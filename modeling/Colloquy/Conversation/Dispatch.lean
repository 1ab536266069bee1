import Colloquy.Memory
import Colloquy.Rulebook

/-!
# Clauses and their keywords

An input is cut into clauses at commas and full stops, and only one clause is answered: the
first with a keyword that has an applicable rule, or the last clause if there is none.

The keywords of the clause are tried from the top of the stack until one gives a reply. A rule may
redirect to another keyword, which goes on top of the stack, and the number of redirects is
limited. The limit makes the work end on any script: a redirect uses up one of those that are
left, and every other step shortens the stack.

* `Rulebook.clause`: the clause that is answered.
* `Rulebook.stack`: its applicable keywords in the order in which they are tried.
* `Rulebook.substituted`: its words after substitution.
* `Dispatch.step`: takes one keyword from the stack and applies its rule.
* `Dispatch.size_lt_of_step`: a step lessens the number of keywords and redirects that are left.
* `Dispatch.run`: steps until there is a reply or no way to get one.
-/

namespace Colloquy

/-! ## Clauses -/

namespace Rulebook

/-- The first clause of some words that `chosen` holds of a word of, or else their last. -/
def firstClause (chosen : String → Bool) (words : List String) : List String :=
  let clause := words.takeWhile (!Text.isMarkWord ·)
  match _h : words.dropWhile (!Text.isMarkWord ·) with
  | [] => clause
  | _ :: rest => if clause.any chosen then clause else firstClause chosen rest
termination_by words.length
decreasing_by
  have := (List.dropWhile_suffix (!Text.isMarkWord ·) (l := words)).length_le
  rw [_h, List.length_cons] at this
  exact this

/-- The clause of an input that is answered. -/
def clause (book : Rulebook) (words : List String) : List String :=
  firstClause book.answers words

/-- A stack of keywords, with the highest precedence on it. -/
structure Stack where
  keywords : List String := []
  top : Nat := 0
deriving DecidableEq, Repr

/-- Adds a word to a stack, if it is an applicable keyword: in front if its precedence exceeds
that of all keywords before it, else at the end. -/
def push (book : Rulebook) (stack : Stack) (word : String) : Stack :=
  match book.rule? word with
  | none => stack
  | some rule =>
    if !rule.isApplicable then stack
    else if stack.top < rule.precedence then ⟨word :: stack.keywords, rule.precedence⟩
    else { stack with keywords := stack.keywords ++ [word] }

/-- The applicable keywords of a clause, in the order in which they are tried. -/
def stack (book : Rulebook) (clause : List String) : List String :=
  (clause.foldl book.push {}).keywords

/-- The word that takes the place of a word. -/
def substitute (book : Rulebook) (word : String) : String :=
  ((book.rule? word).bind (·.substitute)).getD word

/-- The words of a clause, each replaced by its substitute if it has one. -/
def substituted (book : Rulebook) (clause : List String) : List String :=
  clause.map book.substitute

end Rulebook

/-! ## Work on keywords -/

/-- What a conversation has changed so far. -/
structure State where
  /-- Which response each transformation uses next. -/
  cursors : Cursors := {}
  /-- What is kept in mind, the oldest first. -/
  pending : List String := []
  /-- The number of inputs that had words, modulo 4. -/
  phase : Fin 4 := 0
deriving DecidableEq, Repr

/-- The work on the keywords of a clause, in the middle of it. -/
structure Dispatch where
  /-- The keywords to try, the next one first. -/
  stack : List String
  /-- The words that rules are applied to. -/
  words : List String
  /-- How many redirects may still be followed. -/
  redirects : Nat
  state : State
deriving DecidableEq, Repr

namespace Dispatch

/-- What a step leads to. -/
inductive Progress where
  /-- There is more to do. -/
  | more (d : Dispatch)
  /-- The work is done, with a reply if there is one. -/
  | done (reply : Option String) (state : State)
deriving DecidableEq, Repr

/-- A sentence, unless it is empty. -/
def nonempty? (sentence : String) : Option String := if sentence = "" then none else some sentence

/-- What an outcome leads to, where `stack` are the keywords that are left. -/
def follow (d : Dispatch) (stack : List String) (state : State) : Outcome → Progress
  | .reply words => .done (nonempty? (Text.spoken words)) state
  | .redirect keyword newWords =>
    match d.redirects with
    | 0 => .done none state
    | redirects + 1 => .more ⟨keyword :: stack, newWords.getD d.words, redirects, state⟩
  | .pass => .more { d with stack, state }
  | .unmatched => .done none state

/-- Takes the next keyword from the stack. What it brings to mind is kept, then its rule is
applied. -/
def step (book : Rulebook) (memory : MemoryRule) (d : Dispatch) : Progress :=
  match d.stack with
  | [] => .done none d.state
  | keyword :: stack =>
    let kept := (memory.memory? book.carries keyword d.words).toList
    let (outcome, cursors) := book.apply keyword d.words d.state.cursors
    d.follow stack { d.state with cursors, pending := d.state.pending ++ kept } outcome

/-- The number of keywords and redirects that are left. -/
def size (d : Dispatch) : Nat := d.stack.length + d.redirects

private theorem size_le_of_follow {d d' : Dispatch} {stack : List String} {state : State}
    {outcome : Outcome} (h : d.follow stack state outcome = .more d') :
    d'.size ≤ stack.length + d.redirects := by
  cases outcome with
  | reply words => cases h
  | redirect keyword newWords =>
    unfold follow at h
    cases hredirects : d.redirects with
    | zero => simp only [hredirects] at h; cases h
    | succ n =>
      simp only [hredirects] at h
      cases h
      simp only [size, List.length_cons]
      omega
  | pass => cases h; exact Nat.le_refl _
  | unmatched => cases h

/-- Every step lessens the number of keywords and redirects that are left. -/
theorem size_lt_of_step {book : Rulebook} {memory : MemoryRule} {d d' : Dispatch}
    (h : d.step book memory = .more d') : d'.size < d.size := by
  unfold step at h
  split at h
  · cases h
  · rename_i keyword stack hstack
    have hle := size_le_of_follow h
    simp only [size, hstack, List.length_cons] at hle ⊢
    omega

/-- Works until there is a reply or no way to get one. -/
def run (book : Rulebook) (memory : MemoryRule) (d : Dispatch) : Option String × State :=
  match _h : d.step book memory with
  | .done reply state => (reply, state)
  | .more d' => d'.run book memory
termination_by d.size
decreasing_by exact size_lt_of_step _h

end Dispatch

end Colloquy
