import Colloquy.Pattern.WordClass

/-!
# Matching patterns

A pattern is matched against a whole list of words. Each of its elements captures a run of
words, one after the other, and together they capture every word. Where several ways exist, an
element that takes any number of words takes as few as it can, the first such element first.

The search goes through the pattern from the left. It keeps a stack of what has been captured, and
takes back what led nowhere. It remembers every dead end, so that no position is searched twice.
A position is the number of elements and the number of words in front of it.

* `DeadEnds`: the positions from which the rest of a pattern is known not to match.
* `Trail`: the stack and the dead ends.
* `search`: whether the rest of a pattern matches from a position on.
* `Pattern.captures?`: the text that each element captures.
-/

namespace Colloquy

/-! ## Elements -/

/-- What an element of a pattern asks of the words it captures. -/
inductive Step where
  /-- Any number of words. -/
  | gap
  /-- This many words. -/
  | exactly (n : Nat)
  /-- One word that is admitted. -/
  | one (admits : String → Bool)

namespace PatternItem

/-- What an element asks for, where `carries` tells which tag which word carries. -/
def step (carries : String → String → Bool) : PatternItem → Step
  | word text => .one (· == text)
  | count n => if n = 0 then .gap else .exactly n
  | group written => .one ((WordClass.ofText written).admits carries)

end PatternItem

/-- Whether a list has `n` words or more. -/
def hasWords : Nat → List String → Bool
  | 0, _ => true
  | _ + 1, [] => false
  | n + 1, _ :: words => hasWords n words

theorem hasWords_iff {n : Nat} {words : List String} :
    hasWords n words = true ↔ n ≤ words.length := by
  induction n generalizing words with
  | zero => simp [hasWords]
  | succ n ih => cases words <;> simp [hasWords, ih]

/-- Whether the rest of a pattern could match the rest of the words, as far as its first
element tells. -/
def canStart (steps : List Step) (words : List String) : Bool :=
  match steps with
  | [] => words.isEmpty
  | .gap :: _ => true
  | .exactly n :: _ => hasWords n words
  | .one admits :: _ => words.head?.any admits

/-! ## Dead ends -/

/-- A set of positions in a pattern and a list of words. -/
structure DeadEnds where
  /-- For each element of the pattern, which words it fails at. -/
  rows : Array (Array Bool)
deriving DecidableEq, Repr

namespace DeadEnds

/-- No position, with room for a pattern of `steps` elements and a list of `words` words. -/
def empty (steps words : Nat) : DeadEnds := ⟨.replicate steps (.replicate (words + 1) false)⟩

/-- Whether a position is in the set. -/
def has (d : DeadEnds) (step word : Nat) : Bool := (d.rows.getD step #[]).getD word false

/-- The set with one more position. -/
def insert (d : DeadEnds) (step word : Nat) : DeadEnds :=
  ⟨d.rows.modify step (·.setIfInBounds word true)⟩

theorem has_empty (steps words step word : Nat) : (empty steps words).has step word = false := by
  simp only [empty, has, Array.getD_eq_getD_getElem?, Array.getElem?_replicate]
  split
  · simp only [Option.getD_some, Array.getElem?_replicate]
    split <;> rfl
  · rfl

theorem of_has_insert {d : DeadEnds} {step word s w : Nat}
    (h : (d.insert step word).has s w = true) : d.has s w = true ∨ s = step ∧ w = word := by
  simp only [insert, has, Array.getD_eq_getD_getElem?, Array.getElem?_modify] at h ⊢
  by_cases hs : step = s
  · subst hs
    cases hrow : d.rows[step]? with
    | none => simp [hrow] at h
    | some row =>
      simp only [hrow, if_true, Option.map_some, Option.getD_some,
        Array.getElem?_setIfInBounds] at h ⊢
      by_cases hw : word = w
      · exact Or.inr ⟨trivial, hw.symm⟩
      · rw [if_neg hw] at h; exact Or.inl h
  · rw [if_neg hs] at h; exact Or.inl h

end DeadEnds

/-! ## Searching -/

/-- What a search has captured and learnt so far. -/
structure Trail where
  /-- The positions that have turned out to be dead ends. -/
  dead : DeadEnds
  /-- What is captured, the last one first: from one place between words to another. -/
  spans : List (Nat × Nat)
deriving DecidableEq, Repr

/-- A search from some position on: whether the rest matches there, and the trail after it. -/
abbrev Attempt := List String → Nat → Trail → Bool × Trail

/-- Captures what lies between the places `w` and `stop` and tries the rest on the words from
`stop` on. What is captured is taken back if the rest does not match. -/
def capture (rest : Attempt) (w : Nat) (words : List String) (stop : Nat) (trail : Trail) :
    Bool × Trail :=
  let (matched, trail) := rest words stop { trail with spans := (w, stop) :: trail.spans }
  if matched then (true, trail) else (false, { trail with spans := trail.spans.tail })

/-- Captures as few words as possible for a gap from `w` on, which reaches to `stop` already.
`starts` rules out ends of the gap at which the rest cannot match. -/
def captureFewest (starts : List String → Bool) (rest : Attempt) (w : Nat) (words : List String)
    (stop : Nat) (trail : Trail) : Bool × Trail :=
  let (matched, trail) :=
    if starts words then capture rest w words stop trail else (false, trail)
  if matched then (true, trail)
  else
    match words with
    | [] => (false, trail)
    | _ :: words => captureFewest starts rest w words (stop + 1) trail

/-- Whether `steps` match `words`, and the trail after the attempt. The position is that of step
`p` and word `w`. -/
def search (steps : List Step) (p : Nat) : Attempt := fun words w trail =>
  match steps with
  | [] => (words.isEmpty, trail)
  | step :: steps =>
    if trail.dead.has p w then (false, trail)
    else
      let rest := search steps (p + 1)
      let (matched, trail) := match step with
        | .gap => captureFewest (canStart steps) rest w words w trail
        | .exactly n =>
          if hasWords n words then capture rest w (words.drop n) (w + n) trail
          else (false, trail)
        | .one admits =>
          if words.head?.any admits then capture rest w (words.drop 1) (w + 1) trail
          else (false, trail)
      if matched then (true, trail) else (false, { trail with dead := trail.dead.insert p w })

/-- The words between two places. -/
def wordsBetween (words : List String) (span : Nat × Nat) : List String :=
  (words.drop span.1).take (span.2 - span.1)

namespace Pattern

/-- The runs of words that the elements of a pattern capture. -/
def runs? (carries : String → String → Bool) (pattern : Pattern) (words : List String) :
    Option (List (List String)) :=
  let start : Trail := ⟨.empty pattern.length words.length, []⟩
  let (matched, trail) := search (pattern.map (·.step carries)) 0 words 0 start
  if matched then some (trail.spans.reverse.map (wordsBetween words)) else none

/-- The text that each element of a pattern captures. -/
def captures? (carries : String → String → Bool) (pattern : Pattern) (words : List String) :
    Option (List String) :=
  (runs? carries pattern words).map fun runs => runs.map (" ".intercalate ·)

end Pattern

end Colloquy
