import Colloquy.Proofs.Pattern.Split

/-!
# The search finds the first split

The search through a pattern gives up a position only if there is no split from there, so what it
remembers as a dead end is one. It gives a gap as few words as it can, and so finds the first
split of all.

* `DeadEnds.Sound`: the dead ends that are ones.
* `Solves`: the attempts that find the first split and learn nothing wrong.
* `solves_search`: the search is such an attempt, from every position.
* `Pattern.captures?_iff_isFirst`: what a pattern captures.
-/

namespace Colloquy

/-! ## Dead ends -/

/-- Whether there is no split from any position of a set. -/
def DeadEnds.Sound (steps : List Step) (words : List String) (dead : DeadEnds) : Prop :=
  ∀ p w, dead.has p w = true → ∀ runs, ¬Splits Step.Fits (steps.drop p) (words.drop w) runs

section

variable {steps : List Step} {words : List String} {dead : DeadEnds} {p w : Nat}

theorem DeadEnds.sound_empty (n m : Nat) : (empty n m).Sound steps words := by
  intro p w h
  rw [has_empty] at h
  cases h

theorem DeadEnds.Sound.insert (h : dead.Sound steps words)
    (hnone : ∀ runs, ¬Splits Step.Fits (steps.drop p) (words.drop w) runs) :
    (dead.insert p w).Sound steps words := by
  intro p' w' hhas
  rcases of_has_insert hhas with hhas | ⟨rfl, rfl⟩
  · exact h p' w' hhas
  · exact hnone

/-! ## Attempts -/

/-- The spans of runs that follow one another from the place `w` on. -/
def spansFrom (w : Nat) : List (List String) → List (Nat × Nat)
  | [] => []
  | run :: runs => (w, w + run.length) :: spansFrom (w + run.length) runs

/-- The stack after a search from the place `w` on that has found some runs, or none. -/
def stackWith (w : Nat) (spans : List (Nat × Nat)) : Option (List (List String)) → List (Nat × Nat)
  | none => spans
  | some runs => (spansFrom w runs).reverse ++ spans

/-- Whether an attempt from the place `w` on finds the first list of runs that `P` holds of, if
there is any. It leaves their spans on the stack, and otherwise nothing, and its dead ends are
sound. -/
structure Settles (steps : List Step) (words : List String) (P : List (List String) → Prop)
    (w : Nat) (spans : List (Nat × Nat)) (result : Bool × Trail) : Prop where
  answer : ∃ found, IsAnswer P found ∧ result.1 = found.isSome ∧
    result.2.spans = stackWith w spans found
  sound : result.2.dead.Sound steps words

/-- Whether an attempt finds the first split by the steps from `p` on, from whichever word it
begins. -/
def Solves (steps : List Step) (words : List String) (p : Nat) (attempt : Attempt) : Prop :=
  ∀ w trail, trail.dead.Sound steps words → Settles steps words
    (Splits Step.Fits (steps.drop p) (words.drop w)) w trail.spans
      (attempt (words.drop w) w trail)

variable {P Q : List (List String) → Prop} {rest : Attempt} {trail : Trail}
  {spans : List (Nat × Nat)} {result : Bool × Trail}

theorem settles_congr (h : ∀ runs, P runs ↔ Q runs) :
    Settles steps words P w spans result ↔ Settles steps words Q w spans result := by
  rw [funext fun runs => propext (h runs)]

/-- A search that is given up. -/
theorem settles_false (hdead : trail.dead.Sound steps words) (hspans : trail.spans = spans)
    (hnone : ∀ runs, ¬P runs) : Settles steps words P w spans (false, trail) :=
  ⟨⟨none, hnone, rfl, hspans⟩, hdead⟩

/-- If an attempt fails, another one goes on with what comes behind. -/
theorem Settles.orElse (h : Settles steps words P w spans result) {next : Trail → Bool × Trail}
    (hnext : ∀ trail, trail.spans = spans → trail.dead.Sound steps words →
      Settles steps words Q w spans (next trail))
    (hlex : ∀ runs runs', P runs → Q runs' →
      List.Lex (· < ·) (runs.map List.length) (runs'.map List.length)) :
    Settles steps words (fun runs => P runs ∨ Q runs) w spans
      (match result with
        | (matched, trail) => if matched then (true, trail) else next trail) := by
  obtain ⟨matched, trail⟩ := result
  obtain ⟨⟨found, hanswer, hmatched, hspans⟩, hsound⟩ := h
  obtain rfl : matched = found.isSome := hmatched
  cases found with
  | none =>
    obtain ⟨⟨found', hanswer', hresult⟩, hsound'⟩ := hnext trail hspans hsound
    exact ⟨⟨found', hanswer'.or hanswer, hresult⟩, hsound'⟩
  | some runs =>
    exact ⟨⟨some runs, IsFirst.or hanswer fun runs' => hlex runs runs' hanswer.holds, rfl, hspans⟩,
      hsound⟩

/-! ## Captures -/

/-- Whether the first of some runs takes `n` words and the others are a split of the rest. -/
def SplitsAt (steps : List Step) (words : List String) (n : Nat) (runs : List (List String)) :
    Prop :=
  ∃ rest, runs = words.take n :: rest ∧ Splits Step.Fits steps (words.drop n) rest

/-- With a given number of words for the step in front. -/
theorem Solves.capture (h : Solves steps words p rest) (hdead : trail.dead.Sound steps words)
    {n : Nat} (hn : n ≤ (words.drop w).length) :
    Settles steps words (SplitsAt (steps.drop p) (words.drop w) n) w trail.spans
      (capture rest w ((words.drop w).drop n) (w + n) trail) := by
  obtain ⟨⟨found, hanswer, hmatched, hspans⟩, hsound⟩ :=
    h (w + n) { trail with spans := (w, w + n) :: trail.spans } hdead
  rw [← List.drop_drop] at hanswer hmatched hspans hsound
  rw [Colloquy.capture]
  generalize rest ((words.drop w).drop n) (w + n) _ = result at hmatched hspans hsound ⊢
  obtain ⟨matched, trail'⟩ := result
  obtain rfl : matched = found.isSome := hmatched
  have hanswer' := hanswer.map_cons ((words.drop w).take n)
  have hlength : ((words.drop w).take n).length = n := List.length_take_of_le hn
  cases found with
  | none =>
    have htaken : trail'.spans.tail = trail.spans := by rw [hspans]; rfl
    exact ⟨⟨none, hanswer', rfl, htaken⟩, hsound⟩
  | some runs =>
    have hkept : trail'.spans =
        stackWith w trail.spans (some ((words.drop w).take n :: runs)) := by
      rw [hspans, stackWith, stackWith, spansFrom, hlength, List.reverse_cons, List.append_assoc]
      rfl
    exact ⟨⟨some _, hanswer', rfl, hkept⟩, hsound⟩

/-- A number of words is not captured where it is ruled out. -/
theorem Solves.captureIf (h : Solves steps words p rest) (hdead : trail.dead.Sound steps words)
    {n : Nat} {allowed : Bool} (hn : allowed = true → n ≤ (words.drop w).length) :
    Settles steps words
      (fun runs => allowed = true ∧ SplitsAt (steps.drop p) (words.drop w) n runs) w trail.spans
      (if allowed then Colloquy.capture rest w ((words.drop w).drop n) (w + n) trail
        else (false, trail)) := by
  cases allowed with
  | false => exact settles_false hdead rfl fun runs hruns => Bool.false_ne_true hruns.1
  | true =>
    rw [if_pos rfl]
    exact (settles_congr fun runs => (and_iff_right rfl).symm).1 (h.capture hdead (hn rfl))

/-! ## Gaps -/

/-- Whether the first of some runs takes `n` words or more and the others are a split of the
rest. -/
def SplitsFrom (steps : List Step) (words : List String) (n : Nat) (runs : List (List String)) :
    Prop :=
  ∃ k, n ≤ k ∧ k ≤ words.length ∧ SplitsAt steps words k runs

theorem splitsFrom_iff {n : Nat} {runs : List (List String)} (hn : n ≤ words.length) :
    SplitsFrom steps words n runs ↔
      SplitsAt steps words n runs ∨ SplitsFrom steps words (n + 1) runs := by
  constructor
  · rintro ⟨k, hk, hbound, hruns⟩
    rcases Nat.eq_or_lt_of_le hk with rfl | hlt
    · exact .inl hruns
    · exact .inr ⟨k, hlt, hbound, hruns⟩
  · rintro (hruns | ⟨k, hk, hbound, hruns⟩)
    · exact ⟨n, Nat.le_refl n, hn, hruns⟩
    · exact ⟨k, Nat.le_of_succ_le hk, hbound, hruns⟩

/-- Fewer words for the first run come first. -/
theorem lex_of_splitsFrom {n : Nat} {runs runs' : List (List String)} (hn : n ≤ words.length)
    (h : SplitsAt steps words n runs) (h' : SplitsFrom steps words (n + 1) runs') :
    List.Lex (· < ·) (runs.map List.length) (runs'.map List.length) := by
  obtain ⟨rest, rfl, -⟩ := h
  obtain ⟨k, hk, hbound, rest', rfl, -⟩ := h'
  refine .rel ?_
  rwa [List.length_take_of_le hn, List.length_take_of_le hbound]

/-- The rest is tried behind `n` words, unless they are ruled out. -/
theorem Solves.captureGap (h : Solves steps words p rest) {starts : List String → Bool}
    (hstarts : ∀ ws runs, Splits Step.Fits (steps.drop p) ws runs → starts ws = true)
    (hdead : trail.dead.Sound steps words) {n : Nat} (hn : n ≤ (words.drop w).length)
    {ws : List String} (hws : (words.drop w).drop n = ws) :
    Settles steps words (SplitsAt (steps.drop p) (words.drop w) n) w trail.spans
      (if starts ws then Colloquy.capture rest w ws (w + n) trail else (false, trail)) := by
  subst hws
  refine (settles_congr fun runs => and_iff_right_of_imp ?_).1 (h.captureIf hdead fun _ => hn)
  rintro ⟨rest, -, hrest⟩
  exact hstarts _ rest hrest

/-- A gap with which `n` words do not match is given more. -/
theorem Settles.orMore {n : Nat} (hn : n ≤ (words.drop w).length)
    (h : Settles steps words (SplitsAt (steps.drop p) (words.drop w) n) w spans result)
    {next : Trail → Bool × Trail}
    (hnext : ∀ trail, trail.spans = spans → trail.dead.Sound steps words →
      Settles steps words (SplitsFrom (steps.drop p) (words.drop w) (n + 1)) w spans
        (next trail)) :
    Settles steps words (SplitsFrom (steps.drop p) (words.drop w) n) w spans
      (match result with
        | (matched, trail) => if matched then (true, trail) else next trail) :=
  (settles_congr fun _ => splitsFrom_iff hn).2
    (h.orElse hnext fun _ _ => lex_of_splitsFrom hn)

/-- A gap is given the fewest words that let the rest match, of which it has `n`. -/
theorem Solves.captureFewest (h : Solves steps words p rest) {starts : List String → Bool}
    (hstarts : ∀ ws runs, Splits Step.Fits (steps.drop p) ws runs → starts ws = true)
    (hdead : trail.dead.Sound steps words) {n : Nat} (hn : n ≤ (words.drop w).length)
    {ws : List String} (hws : (words.drop w).drop n = ws) :
    Settles steps words (SplitsFrom (steps.drop p) (words.drop w) n) w trail.spans
      (captureFewest starts rest w ws (w + n) trail) := by
  -- The end of the gap moves from word to word, up to the last.
  induction ws generalizing n trail with
  | nil =>
    have hlast : words.length - w ≤ n := by
      have hlength := congrArg List.length hws
      simp only [List.length_drop, List.length_nil] at hlength
      omega
    rw [Colloquy.captureFewest]
    refine (h.captureGap hstarts hdead hn hws).orMore hn fun trail' hspans hsound => ?_
    refine settles_false hsound hspans ?_
    rintro runs ⟨k, hk, hbound, -⟩
    rw [List.length_drop] at hbound
    omega
  | cons word ws ih =>
    have htail : (words.drop w).drop (n + 1) = ws := by
      rw [← List.tail_drop, hws, List.tail_cons]
    have hlt : n + 1 ≤ (words.drop w).length := by
      have hlength := congrArg List.length hws
      rw [List.length_drop, List.length_cons] at hlength
      omega
    rw [Colloquy.captureFewest]
    refine (h.captureGap hstarts hdead hn hws).orMore hn fun trail' hspans hsound => ?_
    rw [← hspans]
    exact ih hsound hlt htail

/-! ## The search -/

/-- Without steps, only the end of the words has a split. -/
theorem settles_nil (hdead : trail.dead.Sound steps words) {ws : List String} :
    Settles steps words (Splits Step.Fits [] ws) w trail.spans (ws.isEmpty, trail) := by
  cases ws with
  | nil =>
    have hfirst : IsFirst (Splits Step.Fits [] []) [] :=
      ⟨splits_nil.2 ⟨rfl, rfl⟩, fun runs hruns hne => absurd (splits_nil.1 hruns).2 hne⟩
    exact ⟨⟨some [], hfirst, rfl, rfl⟩, hdead⟩
  | cons word ws =>
    exact settles_false hdead rfl fun runs hruns => List.cons_ne_nil _ _ (splits_nil.1 hruns).1

/-- A dead end is not tried, and a position from which there is no split becomes one. -/
theorem Settles.remember (hdead : trail.dead.Sound steps words)
    (h : Settles steps words (Splits Step.Fits (steps.drop p) (words.drop w)) w trail.spans
      result) :
    Settles steps words (Splits Step.Fits (steps.drop p) (words.drop w)) w trail.spans
      (if trail.dead.has p w then (false, trail)
        else match result with
          | (matched, trail) =>
            if matched then (true, trail)
            else (false, { trail with dead := trail.dead.insert p w })) := by
  split
  · rename_i hhas
    exact settles_false hdead rfl (hdead p w hhas)
  · obtain ⟨⟨found, hanswer, hmatched, hspans⟩, hsound⟩ := h
    obtain ⟨matched, trail'⟩ := result
    obtain rfl : matched = found.isSome := hmatched
    cases found with
    | none => exact ⟨⟨none, hanswer, rfl, hspans⟩, hsound.insert hanswer⟩
    | some runs => exact ⟨⟨some runs, hanswer, rfl, hspans⟩, hsound⟩

/-- The search finds the first split, from every position. -/
theorem solves_search (steps : List Step) (words : List String) (p : Nat) :
    Solves steps words p (search (steps.drop p) p) := by
  -- The position moves to the right with each step of the pattern.
  induction hrest : steps.drop p generalizing p with
  | nil =>
    intro w trail hdead
    rw [hrest]
    exact settles_nil hdead
  | cons step rest ih =>
    intro w trail hdead
    have htail : steps.drop (p + 1) = rest := by rw [← List.tail_drop, hrest, List.tail_cons]
    subst htail
    have hsolves := ih (p + 1) rfl
    rw [search]
    refine Settles.remember hdead ?_
    rw [hrest]
    cases step with
    | gap =>
      have hfewest := hsolves.captureFewest (w := w) (fun _ _ => canStart_of_splits) hdead
        (Nat.zero_le _) rfl
      refine (settles_congr fun runs => ?_).1 hfewest
      simp only [SplitsFrom, SplitsAt, Nat.zero_le, true_and, splits_gap]
    | exactly n =>
      exact (settles_congr fun runs => splits_exactly.symm).1
        (hsolves.captureIf hdead hasWords_iff.1)
    | one admits =>
      exact (settles_congr fun runs => splits_one.symm).1
        (hsolves.captureIf hdead one_le_length_of_head?)

end

/-! ## Matching -/

/-- The words between the spans of some runs are the runs. -/
theorem map_wordsBetween_spansFrom {words : List String} {w : Nat} {runs : List (List String)}
    (h : runs.flatten = words.drop w) : (spansFrom w runs).map (wordsBetween words) = runs := by
  induction runs generalizing w with
  | nil => rfl
  | cons run runs ih =>
    rw [List.flatten_cons] at h
    have htake : wordsBetween words (w, w + run.length) = run := by
      rw [wordsBetween, ← h, Nat.add_sub_cancel_left, List.take_left]
    have hdrop : runs.flatten = words.drop (w + run.length) := by
      rw [← List.drop_drop, ← h, List.drop_left]
    rw [spansFrom, List.map_cons, htake, ih hdrop]

section

variable {carries : String → String → Bool} {pattern : Pattern} {words : List String}

theorem Pattern.isAnswer_runs? (carries : String → String → Bool) (pattern : Pattern)
    (words : List String) :
    IsAnswer (Splits (PatternItem.Fits carries) pattern words) (pattern.runs? carries words) := by
  refine (isAnswer_congr fun runs => splits_step).1 ?_
  obtain ⟨⟨found, hanswer, hmatched, hspans⟩, -⟩ :=
    solves_search (pattern.map (·.step carries)) words 0 0
      ⟨.empty pattern.length words.length, []⟩ (DeadEnds.sound_empty _ _)
  rw [List.drop_zero, List.drop_zero] at hanswer hmatched hspans
  rw [runs?]
  generalize search (pattern.map (·.step carries)) 0 words 0 _ = result at hmatched hspans ⊢
  obtain ⟨matched, trail⟩ := result
  obtain rfl : matched = found.isSome := hmatched
  cases found with
  | none => exact hanswer
  | some runs =>
    have hruns : trail.spans.reverse.map (wordsBetween words) = runs := by
      rw [hspans, stackWith, List.append_nil, List.reverse_reverse]
      exact map_wordsBetween_spansFrom hanswer.holds.flatten_eq
    show IsAnswer _ (some (trail.spans.reverse.map (wordsBetween words)))
    rw [hruns]
    exact hanswer

/-- What a match captures are the runs of the first split. -/
theorem Pattern.captures?_eq_some_iff {captures : List String} :
    pattern.captures? carries words = some captures ↔
      ∃ runs, IsFirst (Splits (PatternItem.Fits carries) pattern words) runs ∧
        captures = runs.map (" ".intercalate ·) := by
  rw [captures?, Option.map_eq_some_iff]
  simp only [(isAnswer_runs? carries pattern words).eq_some_iff, eq_comm (a := captures)]

/-- A pattern matches if and only if the words can be split by it, and then it captures the runs
of the first split: of the split with the smallest lengths from the left. -/
theorem Pattern.captures?_iff_isFirst (carries : String → String → Bool) (pattern : Pattern)
    (words : List String) :
    ((pattern.captures? carries words).isSome = true ↔
        ∃ runs, Splits (PatternItem.Fits carries) pattern words runs) ∧
      ∀ captures, pattern.captures? carries words = some captures ↔
        ∃ runs, IsFirst (Splits (PatternItem.Fits carries) pattern words) runs ∧
          captures = runs.map (" ".intercalate ·) := by
  refine ⟨?_, fun captures => captures?_eq_some_iff⟩
  rw [captures?, Option.isSome_map]
  exact (isAnswer_runs? carries pattern words).isSome_iff

/-- The first gap takes as few words as it can, although the second could take them. -/
example : Pattern.captures? (fun _ _ => false) [.count 0, .word "YOU", .count 0]
    ["DO", "YOU", "THINK", "YOU", "CAN"] = some ["DO", "YOU", "THINK YOU CAN"] := by
  decide +kernel

end

end Colloquy
