import Colloquy.Pattern.Search
import Mathlib

/-!
# Splits

A pattern matches words if they can be cut into consecutive runs, one for each of its elements,
such that each element fits its run. Of several such splits one comes first: the lengths of its
runs, compared from the left, are the smallest.

* `PatternItem.Fits`: the runs that an element of a pattern can capture.
* `Splits`: the splits of a list of words.
* `splits_cons`: a split is a first run and a split of the words behind it.
* `IsFirst`, `IsAnswer`: the first split, and the result of a search for it.
-/

namespace Colloquy

/-! ## Fitting runs -/

/-- Whether an element of a pattern can capture a run, where `carries` tells which tag which
word carries. -/
def PatternItem.Fits (carries : String → String → Bool) : PatternItem → List String → Prop
  | word text, run => run = [text]
  | count n, run => n = 0 ∨ run.length = n
  | group written, run =>
    ∃ word, run = [word] ∧ (WordClass.ofText written).admits carries word = true

/-- Whether a run is what an element of a pattern asks for. -/
def Step.Fits : Step → List String → Prop
  | gap, _ => True
  | exactly n, run => run.length = n
  | one admits, run => ∃ word, run = [word] ∧ admits word = true

theorem PatternItem.fits_step {carries : String → String → Bool} {item : PatternItem}
    {run : List String} : (item.step carries).Fits run ↔ item.Fits carries run := by
  cases item with
  | word text => simp [step, Step.Fits, Fits]
  | count n =>
    by_cases hn : n = 0
    · simp [step, Step.Fits, Fits, hn]
    · simp [step, Step.Fits, Fits, hn]
  | group written => exact Iff.rfl

/-! ## Splits -/

/-- Whether `runs` is a split of `words`: its runs fit `items`, one each, and make up `words` one
after the other. -/
structure Splits {α : Type} (fits : α → List String → Prop) (items : List α) (words : List String)
    (runs : List (List String)) : Prop where
  fits : List.Forall₂ fits items runs
  flatten_eq : runs.flatten = words

section

variable {α : Type} {fits : α → List String → Prop} {item : α} {items : List α}
  {words : List String} {runs : List (List String)}

theorem Splits.length_eq (h : Splits fits items words runs) : runs.length = items.length :=
  h.fits.length_eq.symm

theorem splits_nil : Splits fits [] words runs ↔ words = [] ∧ runs = [] := by
  constructor
  · rintro ⟨hfits, rfl⟩
    cases hfits
    exact ⟨rfl, rfl⟩
  · rintro ⟨rfl, rfl⟩
    exact ⟨.nil, rfl⟩

/-- A split gives some of the words to the first item and splits the others. -/
theorem splits_cons : Splits fits (item :: items) words runs ↔ ∃ k ≤ words.length,
    fits item (words.take k) ∧
      ∃ rest, runs = words.take k :: rest ∧ Splits fits items (words.drop k) rest := by
  constructor
  · rintro ⟨hfits, rfl⟩
    cases hfits with
    | @cons _ run _ rest hfit hfits =>
      refine ⟨run.length, ?_, ?_, rest, ?_, hfits, ?_⟩
      · simp
      · simpa using hfit
      · simp
      · simp
  · rintro ⟨k, hk, hfit, rest, rfl, hfits, hflatten⟩
    refine ⟨.cons hfit hfits, ?_⟩
    rw [List.flatten_cons, hflatten, List.take_append_drop]

theorem splits_map {β : Type} {f : β → α} {items : List β} :
    Splits fits (items.map f) words runs ↔ Splits (fun b => fits (f b)) items words runs :=
  ⟨fun h => ⟨List.forall₂_map_left_iff.1 h.fits, h.flatten_eq⟩,
    fun h => ⟨List.forall₂_map_left_iff.2 h.fits, h.flatten_eq⟩⟩

end

/-- The splits by the steps of a pattern are those by its elements. -/
theorem splits_step {carries : String → String → Bool} {pattern : Pattern} {words : List String}
    {runs : List (List String)} : Splits Step.Fits (pattern.map (·.step carries)) words runs ↔
      Splits (PatternItem.Fits carries) pattern words runs := by
  have hfits : (fun item : PatternItem => (item.step carries).Fits) = PatternItem.Fits carries :=
    funext fun item => funext fun run => propext PatternItem.fits_step
  rw [splits_map, hfits]

/-! ### By the first step -/

section

variable {steps : List Step} {words : List String} {runs : List (List String)}

theorem splits_gap : Splits Step.Fits (.gap :: steps) words runs ↔ ∃ k ≤ words.length,
    ∃ rest, runs = words.take k :: rest ∧ Splits Step.Fits steps (words.drop k) rest := by
  simp only [splits_cons, Step.Fits, true_and]

/-- A step that asks for a number of words leaves no choice. -/
theorem splits_of_fits_iff {step : Step} {n : Nat} {admitted : Prop}
    (h : ∀ k ≤ words.length, step.Fits (words.take k) ↔ k = n ∧ admitted) :
    Splits Step.Fits (step :: steps) words runs ↔ (n ≤ words.length ∧ admitted) ∧
      ∃ rest, runs = words.take n :: rest ∧ Splits Step.Fits steps (words.drop n) rest := by
  rw [splits_cons]
  constructor
  · rintro ⟨k, hk, hfit, hrest⟩
    obtain ⟨rfl, hadmitted⟩ := (h k hk).1 hfit
    exact ⟨⟨hk, hadmitted⟩, hrest⟩
  · rintro ⟨⟨hn, hadmitted⟩, hrest⟩
    exact ⟨n, hn, (h n hn).2 ⟨rfl, hadmitted⟩, hrest⟩

theorem splits_exactly {n : Nat} : Splits Step.Fits (.exactly n :: steps) words runs ↔
    hasWords n words = true ∧
      ∃ rest, runs = words.take n :: rest ∧ Splits Step.Fits steps (words.drop n) rest := by
  have hfits (k : Nat) (hk : k ≤ words.length) :
      (Step.exactly n).Fits (words.take k) ↔ k = n ∧ True := by
    simp [Step.Fits, Nat.min_eq_left hk]
  rw [splits_of_fits_iff hfits, and_true, hasWords_iff]

theorem one_le_length_of_head? {admits : String → Bool} (h : words.head?.any admits = true) :
    1 ≤ words.length := by
  cases words with
  | nil => cases h
  | cons word words => exact Nat.le_add_left 1 words.length

theorem splits_one {admits : String → Bool} : Splits Step.Fits (.one admits :: steps) words runs ↔
    words.head?.any admits = true ∧
      ∃ rest, runs = words.take 1 :: rest ∧ Splits Step.Fits steps (words.drop 1) rest := by
  have hfits (k : Nat) (hk : k ≤ words.length) :
      (Step.one admits).Fits (words.take k) ↔ k = 1 ∧ words.head?.any admits = true := by
    cases words with
    | nil => simp [Step.Fits]
    | cons word words =>
      cases k with
      | zero => simp [Step.Fits]
      | succ k =>
        have hk : k ≤ words.length := Nat.le_of_succ_le_succ hk
        have hnil : words.take k = [] ↔ k = 0 := by
          rw [← List.length_eq_zero_iff, List.length_take, Nat.min_eq_left hk]
        simp [Step.Fits, List.take_succ_cons, hnil]
  rw [splits_of_fits_iff hfits]
  exact and_congr_left fun _ => and_iff_right_of_imp one_le_length_of_head?

/-- What `canStart` rules out has no split. -/
theorem canStart_of_splits (h : Splits Step.Fits steps words runs) :
    canStart steps words = true := by
  cases steps with
  | nil => simp [canStart, (splits_nil.1 h).1]
  | cons step steps =>
    cases step with
    | gap => rfl
    | exactly n => exact (splits_exactly.1 h).1
    | one admits => exact (splits_one.1 h).1

end

/-! ## First splits -/

/-- Whether `runs` comes first among the lists of runs that `P` holds of, in the order of the
lengths of the runs, compared from the left. -/
structure IsFirst (P : List (List String) → Prop) (runs : List (List String)) : Prop where
  holds : P runs
  lex : ∀ runs', P runs' → runs' ≠ runs →
    List.Lex (· < ·) (runs.map List.length) (runs'.map List.length)

/-- Whether a search for the first list of runs that `P` holds of has this result. -/
def IsAnswer (P : List (List String) → Prop) : Option (List (List String)) → Prop
  | none => ∀ runs, ¬P runs
  | some runs => IsFirst P runs

section

variable {P Q : List (List String) → Prop} {found : Option (List (List String))}

theorem isAnswer_congr (h : ∀ runs, P runs ↔ Q runs) : IsAnswer P found ↔ IsAnswer Q found := by
  rw [funext fun runs => propext (h runs)]

/-- Two lists that both come first are one. -/
theorem IsFirst.eq {runs runs' : List (List String)} (h : IsFirst P runs) (h' : IsFirst P runs') :
    runs = runs' := by
  by_contra hne
  exact asymm (h.lex runs' h'.holds (Ne.symm hne)) (h'.lex runs h.holds hne)

theorem IsAnswer.eq_some_iff (h : IsAnswer P found) {runs : List (List String)} :
    found = some runs ↔ IsFirst P runs := by
  cases found with
  | none => exact iff_of_false (by simp) fun hfirst => h runs hfirst.holds
  | some runs' =>
    rw [Option.some.injEq]
    exact ⟨fun heq => heq ▸ h, fun hfirst => IsFirst.eq h hfirst⟩

theorem IsAnswer.isSome_iff (h : IsAnswer P found) : found.isSome = true ↔ ∃ runs, P runs := by
  cases found with
  | none => exact iff_of_false Bool.false_ne_true fun hruns => hruns.elim h
  | some runs => exact iff_of_true rfl ⟨runs, h.holds⟩

/-- A run in front that is the same in all lists does not matter. -/
theorem IsFirst.cons {runs : List (List String)} (h : IsFirst P runs) (run : List String) :
    IsFirst (fun runs => ∃ rest, runs = run :: rest ∧ P rest) (run :: runs) where
  holds := ⟨runs, rfl, h.holds⟩
  lex := by
    rintro _ ⟨rest, rfl, hrest⟩ hne
    exact .cons (h.lex rest hrest fun heq => hne (by rw [heq]))

/-- What comes behind the first list does not matter. -/
theorem IsFirst.or {runs : List (List String)} (h : IsFirst P runs)
    (hlex : ∀ runs', Q runs' → List.Lex (· < ·) (runs.map List.length) (runs'.map List.length)) :
    IsFirst (fun runs => P runs ∨ Q runs) runs where
  holds := .inl h.holds
  lex := by
    rintro runs' (hP | hQ) hne
    · exact h.lex runs' hP hne
    · exact hlex runs' hQ

theorem IsAnswer.or (h : IsAnswer Q found) (hnone : ∀ runs, ¬P runs) :
    IsAnswer (fun runs => P runs ∨ Q runs) found :=
  (isAnswer_congr fun runs => (or_iff_right (hnone runs)).symm).1 h

theorem IsAnswer.map_cons (h : IsAnswer P found) (run : List String) :
    IsAnswer (fun runs => ∃ rest, runs = run :: rest ∧ P rest) (found.map (run :: ·)) := by
  cases found with
  | none =>
    rintro _ ⟨rest, -, hrest⟩
    exact h rest hrest
  | some runs => exact IsFirst.cons h run

end

end Colloquy
