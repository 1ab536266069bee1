import Colloquy.Rulebook

/-!
# What the application of a rule does

Of the transformations of a rule, the first that matches the words and has a response decides.
It uses the response at its cursor and moves the cursor by one place, around the list. No other
cursor moves, and none at all if no transformation decides.

* `Rule.decisive?`: the place of the transformation that decides.
* `Rule.apply_of_decisive?_eq_none`, `Rule.apply_of_decisive?_eq_some`: the two ways in which a
  rule is applied.
* `Rule.mem_references_of_apply`: a rule redirects to its references only.
-/

namespace Colloquy

/-! ## Rotation -/

/-- A list that is not empty has an item at any cursor, counted around the list. -/
theorem rotate_of_ne_nil {α : Type} {items : List α} (h : items ≠ []) (cursor : Nat) :
    ∃ item, items[cursor % items.length]? = some item ∧
      rotate items cursor = some (item, (cursor + 1) % items.length) := by
  have hlt : cursor % items.length < items.length := Nat.mod_lt _ (List.length_pos_iff.2 h)
  refine ⟨items[cursor % items.length], List.getElem?_eq_getElem hlt, ?_⟩
  rw [rotate, List.getElem?_eq_getElem hlt, Option.map_some, Nat.mod_add_mod]

/-! ## The transformation that decides -/

/-- Whether a transformation matches the words and has a response. -/
def Transformation.decides (carries : String → String → Bool) (t : Transformation)
    (words : List String) : Bool :=
  !t.responses.isEmpty && (t.pattern.captures? carries words).isSome

theorem Transformation.decides_iff {carries : String → String → Bool} {t : Transformation}
    {words : List String} : t.decides carries words = true ↔
      t.responses ≠ [] ∧ ∃ captures, t.pattern.captures? carries words = some captures := by
  simp [decides, Option.isSome_iff_exists]

namespace Rule

variable {carries : String → String → Bool} {rule : Rule} {words : List String}

/-- The place of the first transformation that matches the words and has a response. -/
def decisive? (carries : String → String → Bool) (rule : Rule) (words : List String) :
    Option Nat :=
  rule.transformations.findIdx? (·.decides carries words)

theorem consultation?_of_decides {t : Transformation} (h : t.decides carries words = true)
    (i : Nat) : ∃ captures, t.pattern.captures? carries words = some captures ∧
      consultation? carries words t i = some ⟨i, t.responses, captures⟩ := by
  obtain ⟨hne, captures, hcaptures⟩ := Transformation.decides_iff.1 h
  exact ⟨captures, hcaptures, by simp [consultation?, hne, hcaptures]⟩

theorem consultation?_eq_none {t : Transformation} (h : t.decides carries words = false)
    (i : Nat) : consultation? carries words t i = none := by
  rw [consultation?]
  split
  · rfl
  · rename_i hne
    simpa [Transformation.decides, hne] using h

/-- The search with places, from place `k` on, finds what the search for a place finds. -/
theorem findSome?_zipIdx (carries : String → String → Bool) (words : List String)
    (ts : List Transformation) (k : Nat) :
    (ts.zipIdx k).findSome? (fun (t, i) => consultation? carries words t i) =
      (ts.findIdx? (·.decides carries words)).bind fun i =>
        ts[i]?.bind fun t => consultation? carries words t (k + i) := by
  induction ts generalizing k with
  | nil => rfl
  | cons t ts ih =>
    rw [List.zipIdx_cons, List.findSome?_cons, List.findIdx?_cons]
    cases hdecides : t.decides carries words with
    | true =>
      obtain ⟨captures, -, hsome⟩ := consultation?_of_decides hdecides k
      simp [hsome]
    | false =>
      have hstep (i : Nat) : k + 1 + i = k + (i + 1) := by omega
      simp only [consultation?_eq_none hdecides, ih, hstep, Bool.false_eq_true, if_false,
        Option.bind_map, Function.comp_def, List.getElem?_cons_succ]

theorem consult?_eq (carries : String → String → Bool) (rule : Rule) (words : List String) :
    rule.consult? carries words = (rule.decisive? carries words).bind fun i =>
      rule.transformations[i]?.bind fun t => consultation? carries words t i := by
  have hzip := findSome?_zipIdx carries words rule.transformations 0
  simp only [Nat.zero_add] at hzip
  exact hzip

/-! ## Application -/

/-- A rule none of whose transformations decides moves no cursor. -/
theorem apply_of_decisive?_eq_none (h : rule.decisive? carries words = none) (cursors : Cursors) :
    rule.apply carries words cursors = (rule.otherwise, cursors) := by
  rw [apply, consult?_eq, h]
  rfl

/-- The transformation that decides gives the response at its cursor, and only this cursor
moves. -/
theorem apply_of_decisive?_eq_some {i : Nat} (h : rule.decisive? carries words = some i)
    (cursors : Cursors) : ∃ t captures response, rule.transformations[i]? = some t ∧
      t.pattern.captures? carries words = some captures ∧
      t.responses[cursors.get rule.name i % t.responses.length]? = some response ∧
      rule.apply carries words cursors = (response.outcome captures,
        cursors.set rule.name i ((cursors.get rule.name i + 1) % t.responses.length)) := by
  obtain ⟨hlt, hdecides, -⟩ := List.findIdx?_eq_some_iff_getElem.1 h
  have ht := List.getElem?_eq_getElem hlt
  obtain ⟨hne, -⟩ := Transformation.decides_iff.1 hdecides
  obtain ⟨captures, hcaptures, hconsultation⟩ := consultation?_of_decides hdecides i
  obtain ⟨response, hresponse, hrotate⟩ := rotate_of_ne_nil hne (cursors.get rule.name i)
  refine ⟨_, captures, response, ht, hcaptures, hresponse, ?_⟩
  rw [apply, consult?_eq, h, Option.bind_some, ht, Option.bind_some, hconsultation]
  dsimp only
  rw [hrotate]

/-- What a rule makes of words comes from its link or from one of its responses, if it matches. -/
theorem outcome_apply (carries : String → String → Bool) (rule : Rule) (words : List String)
    (cursors : Cursors) :
    (rule.apply carries words cursors).1 = .unmatched ∨
      (∃ target, rule.link = some target ∧
        (rule.apply carries words cursors).1 = .redirect target none) ∨
      ∃ t ∈ rule.transformations, ∃ response ∈ t.responses, ∃ captures,
        (rule.apply carries words cursors).1 = response.outcome captures := by
  cases hdecisive : rule.decisive? carries words with
  | none =>
    rw [apply_of_decisive?_eq_none hdecisive, otherwise]
    cases hlink : rule.link with
    | none => exact .inl rfl
    | some target => exact .inr (.inl ⟨target, rfl, rfl⟩)
  | some i =>
    obtain ⟨t, captures, response, ht, -, hresponse, happly⟩ :=
      apply_of_decisive?_eq_some hdecisive cursors
    exact .inr (.inr ⟨t, List.mem_of_getElem? ht, response, List.mem_of_getElem? hresponse,
      captures, by rw [happly]⟩)

/-- A rule redirects by its link, by a reference or by recasting the words. -/
theorem redirect_of_apply {cursors : Cursors} {keyword : String} {newWords : Option (List String)}
    (h : (rule.apply carries words cursors).1 = .redirect keyword newWords) :
    (rule.link = some keyword ∧ newWords = none) ∨ ∃ t ∈ rule.transformations,
      (.refer keyword ∈ t.responses ∧ newWords = none) ∨
        ∃ template captures, .recast template keyword ∈ t.responses ∧
          newWords = some (template.fill captures) := by
  obtain hunmatched | ⟨target, hlink, houtcome⟩ |
    ⟨t, ht, response, hresponse, captures, houtcome⟩ := outcome_apply carries rule words cursors
  · rw [hunmatched] at h
    cases h
  · rw [houtcome] at h
    cases h
    exact .inl ⟨hlink, rfl⟩
  · rw [houtcome] at h
    cases response with
    | refer target =>
      cases h
      exact .inr ⟨t, ht, .inl ⟨hresponse, rfl⟩⟩
    | recast template target =>
      cases h
      exact .inr ⟨t, ht, .inr ⟨template, captures, hresponse, rfl⟩⟩
    | reply template => cases h
    | pass => cases h

/-- A rule redirects to its references only. -/
theorem mem_references_of_apply {cursors : Cursors} {keyword : String}
    {newWords : Option (List String)}
    (h : (rule.apply carries words cursors).1 = .redirect keyword newWords) :
    keyword ∈ rule.references := by
  have hresponse {t : Transformation} (ht : t ∈ rule.transformations) {response : Response}
      (hresponse : response ∈ t.responses) (htarget : response.target? = some keyword) :
      keyword ∈ rule.references :=
    List.mem_append_right _
      (List.mem_flatMap.2 ⟨t, ht, List.mem_filterMap.2 ⟨response, hresponse, htarget⟩⟩)
  obtain ⟨hlink, -⟩ | ⟨t, ht, ⟨hrefer, -⟩ | ⟨template, captures, hrecast, -⟩⟩ := redirect_of_apply h
  · exact List.mem_append_left _ (by rw [hlink]; exact List.mem_singleton_self _)
  · exact hresponse ht hrefer rfl
  · exact hresponse ht hrecast rfl

/-- A rule passes by a response of its own only. -/
theorem exists_pass_of_apply {cursors : Cursors}
    (h : (rule.apply carries words cursors).1 = .pass) :
    ∃ t ∈ rule.transformations, .pass ∈ t.responses := by
  obtain hunmatched | ⟨target, -, houtcome⟩ | ⟨t, ht, response, hresponse, captures, houtcome⟩ :=
    outcome_apply carries rule words cursors
  · rw [hunmatched] at h
    cases h
  · rw [houtcome] at h
    cases h
  · rw [houtcome] at h
    cases response with
    | pass => exact ⟨t, ht, hresponse⟩
    | reply template => cases h
    | refer target => cases h
    | recast template target => cases h

end Rule

end Colloquy
