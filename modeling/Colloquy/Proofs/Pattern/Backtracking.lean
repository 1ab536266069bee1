import Colloquy.Proofs.Pattern.Search

/-!
# Backtracking leaves no trace

A search goes forward and back through a pattern, with one stack and one set of dead ends for all
of it. From whatever position it begins, and whatever is on the stack, it takes back all it has
captured if it fails, and adds one span for each element that is left if it matches.

* `DeadEnds.SoundFor`: the dead ends of a pattern that are ones.
* `Consecutive`: spans that follow one another.
* `search_leaves_no_trace`: what a search does to the stack and to the dead ends.
-/

namespace Colloquy

/-! ## Dead ends of a pattern -/

/-- Whether the rest of a pattern has no split of the rest of the words, from any position of a
set. -/
def DeadEnds.SoundFor (carries : String → String → Bool) (pattern : Pattern) (words : List String)
    (dead : DeadEnds) : Prop :=
  ∀ p w, dead.has p w = true → ∀ runs,
    ¬Splits (PatternItem.Fits carries) (pattern.drop p) (words.drop w) runs

section

variable {carries : String → String → Bool} {pattern : Pattern} {words : List String}

theorem splits_drop_step {p : Nat} {runs : List (List String)} :
    Splits Step.Fits ((pattern.map (·.step carries)).drop p) words runs ↔
      Splits (PatternItem.Fits carries) (pattern.drop p) words runs := by
  rw [← List.map_drop, splits_step]

theorem DeadEnds.soundFor_iff {dead : DeadEnds} :
    dead.SoundFor carries pattern words ↔ dead.Sound (pattern.map (·.step carries)) words := by
  simp only [SoundFor, Sound, splits_drop_step]

end

/-! ## Spans -/

/-- Whether spans follow one another from one place to another. -/
def Consecutive : Nat → Nat → List (Nat × Nat) → Prop
  | first, last, [] => first = last
  | first, last, span :: spans => span.1 = first ∧ span.1 ≤ span.2 ∧ Consecutive span.2 last spans

theorem consecutive_spansFrom (w : Nat) (runs : List (List String)) :
    Consecutive w (w + runs.flatten.length) (spansFrom w runs) := by
  induction runs generalizing w with
  | nil => rfl
  | cons run runs ih =>
    refine ⟨rfl, Nat.le_add_right w run.length, ?_⟩
    rw [List.flatten_cons, List.length_append, ← Nat.add_assoc]
    exact ih (w + run.length)

theorem length_spansFrom (w : Nat) (runs : List (List String)) :
    (spansFrom w runs).length = runs.length := by
  induction runs generalizing w with
  | nil => rfl
  | cons run runs ih => rw [spansFrom, List.length_cons, ih, List.length_cons]

/-! ## Searching -/

/-- A search from any position, on any stack and with sound dead ends, matches if and only if the
rest of the pattern has a split of the rest of the words. Its dead ends are sound again. If it
fails, the stack is as it was; if it matches, there is one span more for each element that was
left, and they follow one another to the end of the words. No end of a gap is ruled out from which
the rest matches. -/
theorem search_leaves_no_trace (carries : String → String → Bool) (pattern : Pattern)
    (words : List String) (p : Nat) {w : Nat} (hw : w ≤ words.length) {trail : Trail}
    (hdead : trail.dead.SoundFor carries pattern words) :
    let steps := pattern.map (·.step carries)
    let result := search (steps.drop p) p (words.drop w) w trail
    result.2.dead.SoundFor carries pattern words ∧
    (result.1 = true ↔
      ∃ runs, Splits (PatternItem.Fits carries) (pattern.drop p) (words.drop w) runs) ∧
    (result.1 = false → result.2.spans = trail.spans) ∧
    (result.1 = true → ∃ spans, result.2.spans = spans.reverse ++ trail.spans ∧
      spans.length = pattern.length - p ∧ Consecutive w words.length spans) ∧
    ∀ q stop runs, Splits (PatternItem.Fits carries) (pattern.drop q) (words.drop stop) runs →
      canStart (steps.drop q) (words.drop stop) = true := by
  intro steps result
  obtain ⟨⟨found, hanswer, hmatched, hspans⟩, hsound⟩ :=
    solves_search steps words p w trail (DeadEnds.soundFor_iff.1 hdead)
  change result.1 = found.isSome at hmatched
  change result.2.spans = stackWith w trail.spans found at hspans
  refine ⟨DeadEnds.soundFor_iff.2 hsound, ?_, fun hfalse => ?_, fun htrue => ?_,
    fun q stop runs hruns => canStart_of_splits (splits_drop_step.2 hruns)⟩
  · rw [hmatched, hanswer.isSome_iff]
    exact exists_congr fun runs => splits_drop_step
  · cases found with
    | none => exact hspans
    | some runs => exact absurd (hmatched.symm.trans hfalse) (by simp)
  · cases found with
    | none => exact absurd (hmatched.symm.trans htrue) (by simp)
    | some runs =>
      have hsplit := hanswer.holds
      refine ⟨spansFrom w runs, hspans, ?_, ?_⟩
      · rw [length_spansFrom, hsplit.length_eq, List.length_drop, List.length_map]
      · have hend : w + runs.flatten.length = words.length := by
          rw [hsplit.flatten_eq, List.length_drop]
          omega
        exact hend ▸ consecutive_spansFrom w runs

/-- A trail on which it is known that `YOU` is not the first word. -/
def knowingTrail : Trail := ⟨(DeadEnds.empty 3 3).insert 1 0, [(4, 6)]⟩

/-- The dead end is not tried again, and what was on the stack stays below the new spans. -/
theorem search_leaves_no_trace_knowingTrail :
    let pattern : Pattern := [.count 0, .word "YOU", .count 0]
    let words := ["DO", "YOU", "THINK"]
    let result := search (pattern.map (·.step fun _ _ => false)) 0 words 0 knowingTrail
    knowingTrail.dead.SoundFor (fun _ _ => false) pattern words ∧ result.1 = true ∧
      ∃ spans, result.2.spans = spans.reverse ++ [(4, 6)] ∧ spans.length = 3 ∧
        Consecutive 0 3 spans := by
  intro pattern words result
  have hdead : knowingTrail.dead.SoundFor (fun _ _ => false) pattern words := by
    intro p w hhas runs hruns
    rcases DeadEnds.of_has_insert hhas with hhas | ⟨rfl, rfl⟩
    · rw [DeadEnds.has_empty] at hhas
      cases hhas
    · have hstart := canStart_of_splits (splits_drop_step.2 hruns)
      revert hstart
      decide +kernel
  obtain ⟨-, hiff, -, hspans, -⟩ :=
    search_leaves_no_trace (fun _ _ => false) pattern words 0 (Nat.zero_le _) hdead
  have hmatched : result.1 = true := by
    refine hiff.2 ⟨[["DO"], ["YOU"], ["THINK"]], ?_, rfl⟩
    exact .cons (.inl rfl) (.cons rfl (.cons (.inl rfl) .nil))
  exact ⟨hdead, hmatched, hspans hmatched⟩

end Colloquy
