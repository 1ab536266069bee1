import Colloquy.Script.Token.Stream
import Mathlib

/-!
# Looking ahead

A reader of tokens may look at the token to come as often as it likes before it takes it. It sees
what it will take, and it takes what it would take if it never looked. This holds behind the last
token too, where the end comes again and again.

* `endless`: tokens, and then the end forever.
* `TokenStream.peek_fst`, `TokenStream.next_peek`: a look sees what is taken next, and leaves it.
* `TokenStream.toCome`: what is taken from a stream from now on.
* `TokenStream.run`: what a stream answers to requests that are made one after another.
* `TokenStream.lookahead_of_requests`: the answers for a text, whatever is requested.
-/

namespace Colloquy

/-- Tokens, and then the end forever. -/
def endless (ts : List Token) : Stream' (Option Token) := ts.map some ++ₛ .const none

namespace TokenStream

/-! ## One request -/

/-- A look sees what is taken next. -/
theorem peek_fst (s : TokenStream) : s.peek.1 = s.next.1 := by
  obtain ⟨rest, ahead⟩ := s
  cases ahead with
  | none => rfl
  | some t => rfl

/-- A look leaves no trace in what is taken next, nor in the stream after that. -/
theorem next_peek (s : TokenStream) : s.peek.2.next = s.next := by
  obtain ⟨rest, ahead⟩ := s
  cases ahead with
  | none => rfl
  | some t => rfl

/-! ## What is to come -/

/-- What is taken from a stream from now on: what was read ahead and the tokens of the rest, and
then the end forever. A stream that has read ahead and one that has not can have the same to
come. -/
def toCome (s : TokenStream) : Stream' (Option Token) :=
  match s.ahead with
  | some t => .cons t (endless (Token.all s.rest))
  | none => endless (Token.all s.rest)

theorem toCome_ofText (text : String) : (ofText text).toCome = endless (tokens text) := rfl

/-- Reading gives the first of what is to come, and leaves the others in the text. -/
theorem endless_all (cs : List Char) :
    endless (Token.all cs) = .cons (read cs).1 (endless (Token.all (read cs).2)) := by
  cases hread : Token.read? cs with
  | none =>
    have hnil : Token.all [] = [] := Token.all_eq_nil rfl
    -- The end leaves nothing to read, so that it comes again.
    rw [read, hread, hnil, Token.all_eq_nil hread]
    exact Stream'.const_eq none
  | some q =>
    obtain ⟨t, rest⟩ := q
    rw [read, hread, Token.all_eq_cons hread]
    rfl

theorem toCome_eq (s : TokenStream) : s.toCome = .cons s.next.1 s.next.2.toCome := by
  obtain ⟨rest, ahead⟩ := s
  cases ahead with
  | none => exact endless_all rest
  | some t => rfl

theorem toCome_peek (s : TokenStream) : s.peek.2.toCome = s.toCome := by
  rw [toCome_eq, next_peek, ← toCome_eq]

/-! ## Many requests -/

/-- What a reader may ask of a stream: a look at the next token, or the token itself. -/
inductive Request where
  | peek
  | next
deriving DecidableEq, Repr

def serve (s : TokenStream) : Request → Option Token × TokenStream
  | .peek => s.peek
  | .next => s.next

/-- The answers to requests that are made one after another, and the stream after them. -/
def run (s : TokenStream) : List Request → List (Request × Option Token) × TokenStream
  | [] => ([], s)
  | r :: requests =>
    let (t, s) := s.serve r
    let (answers, s) := s.run requests
    ((r, t) :: answers, s)

theorem run_cons (s : TokenStream) (r : Request) (requests : List Request) :
    s.run (r :: requests) = ((r, (s.serve r).1) :: ((s.serve r).2.run requests).1,
      ((s.serve r).2.run requests).2) := rfl

theorem run_append (s : TokenStream) (earlier later : List Request) :
    s.run (earlier ++ later) = ((s.run earlier).1 ++ ((s.run earlier).2.run later).1,
      ((s.run earlier).2.run later).2) := by
  induction earlier generalizing s with
  | nil => rfl
  | cons r earlier ih => rw [List.cons_append, run_cons, ih, run_cons, List.cons_append]

/-- The tokens that are taken, without those that are only looked at. -/
def taken (answers : List (Request × Option Token)) : List (Option Token) :=
  (answers.filter (·.1 = .next)).map Prod.snd

theorem taken_peek (t : Option Token) (answers : List (Request × Option Token)) :
    taken ((.peek, t) :: answers) = taken answers := rfl

theorem taken_next (t : Option Token) (answers : List (Request × Option Token)) :
    taken ((.next, t) :: answers) = t :: taken answers := rfl

/-- What is taken is what was to come, and nothing else is gone from it. -/
theorem taken_run (s : TokenStream) (requests : List Request) :
    taken (s.run requests).1 = s.toCome.take (requests.count .next) ∧
    (s.run requests).2.toCome = s.toCome.drop (requests.count .next) := by
  induction requests generalizing s with
  | nil => exact ⟨rfl, rfl⟩
  | cons r requests ih =>
    cases r with
    | peek =>
      rw [run_cons, taken_peek, List.count_cons_of_ne (by decide), ← s.toCome_peek]
      exact ih s.peek.2
    | next =>
      rw [run_cons, taken_next, List.count_cons_self, s.toCome_eq, Stream'.take_succ_cons,
        Stream'.drop_succ, Stream'.tail_cons]
      exact ⟨congrArg _ (ih s.next.2).1, (ih s.next.2).2⟩

/-- Any number of looks see what is taken after them, and leave no other trace. -/
theorem run_peeks (s : TokenStream) (n : Nat) : s.run (.replicate n .peek ++ [.next]) =
    (.replicate n (.peek, s.next.1) ++ [(.next, s.next.1)], s.next.2) := by
  induction n generalizing s with
  | zero => rfl
  | succ n ih =>
    have hlook : s.serve .peek = (s.next.1, s.peek.2) := Prod.ext s.peek_fst rfl
    rw [List.replicate_succ, List.cons_append, run_cons, hlook, ih, next_peek, List.replicate_succ,
      List.cons_append]

/-- Looking ahead does not show in what is taken from a text: the tokens of the text in their
order, and then the end as often as it is asked for. After any requests, any number of looks, and
the first request after them that takes a token, get the same answer: the token in the place to
which the taking has come, or the end where there is none. -/
theorem lookahead_of_requests (text : String) (requests : List Request) :
    let s := ofText text
    let expected := endless (tokens text)
    let t := expected.get (requests.count .next)
    taken (s.run requests).1 = expected.take (requests.count .next) ∧
    ∀ n later, (s.run requests).1 ++ (.replicate n (.peek, t) ++ [(.next, t)]) <+:
      (s.run (requests ++ (.replicate n .peek ++ .next :: later))).1 := by
  intro s expected t
  have hcome : s.toCome = expected := toCome_ofText text
  obtain ⟨htaken, hleft⟩ := taken_run s requests
  rw [hcome] at htaken hleft
  refine ⟨htaken, fun n later => ?_⟩
  have hnext : (s.run requests).2.next.1 = t := by
    calc (s.run requests).2.next.1
        = (s.run requests).2.toCome.head := by rw [toCome_eq, Stream'.head_cons]
      _ = (expected.drop (requests.count .next)).head := by rw [hleft]
      _ = t := Stream'.head_drop expected _
  have hpeeks := run_peeks (s.run requests).2 n
  rw [hnext] at hpeeks
  -- The looks and the request that takes are a run of their own, before the later requests.
  rw [List.append_cons (.replicate n .peek) .next later, run_append s, run_append, hpeeks]
  exact (List.prefix_append_right_inj _).2 (List.prefix_append _ _)

/-- A look behind the last token sees the end, which is then taken. -/
example : ((ofText "(A)").run [.peek, .peek, .next, .next, .next, .next, .peek, .next]).1.map
    Prod.snd = [some .lparen, some .lparen, some .lparen, some (.symbol "A"), some .rparen, none,
      none, none] := by
  decide +kernel

end TokenStream

end Colloquy
