import Colloquy.Proofs.Rulebook
import Colloquy.Proofs.Rulebook.Application

/-!
# Rotation over many calls

A rulebook is called with the name of a rule and some words, any number of times. Each call
consults at most one transformation, and what a transformation answers depends on its own past
only: the responses are used one after the other, around the list.

* `Rulebook.call`, `Rulebook.cursorsAfter`: one call, and the cursors after some calls.
* `Rulebook.get_call`: what a call does to each cursor.
* `Rulebook.get_cursorsAfter`: a cursor counts how often its transformation was consulted.
* `Rulebook.rotation_of_calls`: the responses that calls use, for the scripts that are read.
-/

namespace Colloquy

/-- A rule that is applied, and the words that it is applied to. -/
structure Call where
  name : RuleName
  words : List String
deriving DecidableEq, Repr

namespace Rulebook

variable (book : Rulebook)

/-! ## Calls -/

/-- The rule of a name. -/
def named? : RuleName → Option Rule
  | .keyword word => book.rule? word
  | .fallback => some book.fallback

/-- Applies the rule that is called. -/
def call (c : Call) (cursors : Cursors) : Outcome × Cursors :=
  match c.name with
  | .keyword word => book.apply word c.words cursors
  | .fallback => book.applyFallback c.words cursors

/-- The place of the transformation that a call consults in the rule that is called. -/
def decisive? (c : Call) : Option Nat :=
  (book.named? c.name).bind (·.decisive? book.carries c.words)

/-- Whether a call consults the `i`-th transformation of a rule. -/
def consults (name : RuleName) (i : Nat) (c : Call) : Bool :=
  c.name = name && book.decisive? c = some i

/-- The cursors after some calls, from given cursors on. -/
def cursorsFrom (cursors : Cursors) (calls : List Call) : Cursors :=
  calls.foldl (fun cursors c => (book.call c cursors).2) cursors

/-- The cursors after some calls, of which none was moved before. -/
def cursorsAfter (calls : List Call) : Cursors := book.cursorsFrom {} calls

theorem cursorsFrom_concat (cursors : Cursors) (calls : List Call) (c : Call) :
    book.cursorsFrom cursors (calls ++ [c]) = (book.call c (book.cursorsFrom cursors calls)).2 := by
  rw [cursorsFrom, List.foldl_concat, cursorsFrom]

theorem cursorsFrom_append (cursors : Cursors) (calls calls' : List Call) :
    book.cursorsFrom cursors (calls ++ calls') =
      book.cursorsFrom (book.cursorsFrom cursors calls) calls' := by
  rw [cursorsFrom, List.foldl_append, cursorsFrom, cursorsFrom]

theorem cursorsAfter_concat (calls : List Call) (c : Call) :
    book.cursorsAfter (calls ++ [c]) = (book.call c (book.cursorsAfter calls)).2 :=
  book.cursorsFrom_concat {} calls c

variable {book}

theorem call_of_named?_eq_none {c : Call} (h : book.named? c.name = none) (cursors : Cursors) :
    book.call c cursors = (.unmatched, cursors) := by
  obtain ⟨name, words⟩ := c
  cases name with
  | keyword word =>
    have hrule : book.rule? word = none := h
    show book.apply word words cursors = _
    rw [apply, hrule]
  | fallback => cases h

theorem call_of_named?_eq_some {c : Call} {rule : Rule} (h : book.named? c.name = some rule)
    (cursors : Cursors) : book.call c cursors = rule.apply book.carries c.words cursors := by
  obtain ⟨name, words⟩ := c
  cases name with
  | keyword word =>
    have hrule : book.rule? word = some rule := h
    show book.apply word words cursors = _
    rw [apply, hrule]
  | fallback =>
    cases h
    rfl

/-- A call that does not end unmatched applies a rule. -/
theorem exists_rule_of_call {c : Call} {cursors : Cursors}
    (h : (book.call c cursors).1 ≠ .unmatched) : ∃ rule, book.named? c.name = some rule ∧
      book.call c cursors = rule.apply book.carries c.words cursors := by
  cases hrule : book.named? c.name with
  | none => exact absurd (by rw [call_of_named?_eq_none hrule]) h
  | some rule => exact ⟨rule, rfl, call_of_named?_eq_some hrule cursors⟩

/-- A call that consults nothing moves nothing. -/
theorem call_of_decisive?_eq_none {c : Call} (h : book.decisive? c = none) (cursors : Cursors) :
    book.call c cursors = ((book.named? c.name).elim .unmatched Rule.otherwise, cursors) := by
  rw [decisive?] at h
  cases hrule : book.named? c.name with
  | none => rw [call_of_named?_eq_none hrule, Option.elim_none]
  | some rule =>
    rw [hrule, Option.bind_some] at h
    rw [call_of_named?_eq_some hrule, Rule.apply_of_decisive?_eq_none h, Option.elim_some]

/-! ## Cursors -/

/-- Whether each rule is found by its own name, so that no two rules share a cursor. -/
def WellNamed (book : Rulebook) : Prop :=
  ∀ name rule, book.named? name = some rule → rule.name = name

/-- What a rulebook finds under a name is a rule of the script that has this name. -/
theorem mem_and_name_of_named? {script : Script} (hs : script.Sound) {name : RuleName} {rule : Rule}
    (h : (ofScript script).named? name = some rule) :
    rule ∈ script.rules ++ [script.fallback] ∧ rule.name = name := by
  cases name with
  | keyword word =>
    have hfind : script.rule? word = some rule := by rwa [← rule?_ofScript hs]
    have hword := List.find?_some hfind
    rw [beq_iff_eq] at hword
    exact ⟨List.mem_append_left _ (List.mem_of_find?_eq_some hfind),
      RuleName.word?_inj (b := .keyword word) hword hword⟩
  | fallback =>
    cases h
    exact ⟨List.mem_append_right _ (List.mem_singleton_self _), hs.fallback_name⟩

theorem wellNamed_ofScript {script : Script} (hs : script.Sound) : (ofScript script).WellNamed :=
  fun _ _ h => (mem_and_name_of_named? hs h).2

/-- A call that consults a transformation uses the response at its cursor and moves this
cursor. -/
theorem call_of_decisive?_eq_some (hw : book.WellNamed) {c : Call} {i : Nat}
    (h : book.decisive? c = some i) (cursors : Cursors) :
    ∃ rule t captures response, book.named? c.name = some rule ∧
      rule.transformations[i]? = some t ∧
      t.pattern.captures? book.carries c.words = some captures ∧
      t.responses[cursors.get c.name i % t.responses.length]? = some response ∧
      book.call c cursors = (response.outcome captures,
        cursors.set c.name i ((cursors.get c.name i + 1) % t.responses.length)) := by
  obtain ⟨rule, hrule, hdecisive⟩ := Option.bind_eq_some_iff.1 h
  have hname := hw c.name rule hrule
  obtain ⟨t, captures, response, ht, hcaptures, hresponse, happly⟩ :=
    Rule.apply_of_decisive?_eq_some hdecisive cursors
  rw [hname] at hresponse happly
  exact ⟨rule, t, captures, response, hrule, ht, hcaptures, hresponse,
    (call_of_named?_eq_some hrule cursors).trans happly⟩

/-- A call moves the cursor of the transformation that it consults, by one place around the
list of its responses, and no other. -/
theorem get_call (hw : book.WellNamed) (c : Call) (cursors : Cursors) {name : RuleName}
    {rule : Rule} {i : Nat} {t : Transformation} (hrule : book.named? name = some rule)
    (ht : rule.transformations[i]? = some t) : (book.call c cursors).2.get name i =
      if book.consults name i c then (cursors.get name i + 1) % t.responses.length
      else cursors.get name i := by
  cases hdecisive : book.decisive? c with
  | none => simp [consults, hdecisive, call_of_decisive?_eq_none hdecisive]
  | some j =>
    obtain ⟨rule', t', captures, response, hrule', ht', -, -, hcall⟩ :=
      call_of_decisive?_eq_some hw hdecisive cursors
    rw [hcall]
    by_cases hkey : (name, i) = (c.name, j)
    · obtain ⟨rfl, rfl⟩ := Prod.mk.inj hkey
      obtain rfl := Option.some.inj (hrule.symm.trans hrule')
      obtain rfl := Option.some.inj (ht.symm.trans ht')
      simp [consults, hdecisive]
    · have hnot : book.consults name i c = false := by
        simp only [consults, hdecisive, Bool.and_eq_false_iff, decide_eq_false_iff_not,
          Option.some.injEq]
        by_cases hname : c.name = name
        · exact .inr fun hj => hkey (by rw [hname, hj])
        · exact .inl hname
      rw [Cursors.get_set_of_ne hkey, hnot]
      rfl

/-- A cursor counts how often its transformation has been consulted, around the list of its
responses. -/
theorem get_cursorsAfter (hw : book.WellNamed) (calls : List Call) {name : RuleName} {rule : Rule}
    {i : Nat} {t : Transformation} (hrule : book.named? name = some rule)
    (ht : rule.transformations[i]? = some t) : (book.cursorsAfter calls).get name i =
      calls.countP (book.consults name i) % t.responses.length := by
  induction calls using List.reverseRecOn with
  | nil => exact (Nat.zero_mod _).symm
  | append_singleton calls c ih =>
    rw [cursorsAfter_concat, get_call hw c _ hrule ht, ih, List.countP_append,
      List.countP_singleton]
    split
    · rw [Nat.mod_add_mod]
    · rw [Nat.add_zero]

/-! ## Rotation -/

theorem decisive?_eq_none_of_unmatched (hw : book.WellNamed) {c : Call} {cursors : Cursors}
    (h : (book.call c cursors).1 = .unmatched) : book.decisive? c = none := by
  cases hdecisive : book.decisive? c with
  | none => rfl
  | some i =>
    obtain ⟨rule, t, captures, response, -, -, -, -, hcall⟩ :=
      call_of_decisive?_eq_some hw hdecisive cursors
    rw [hcall] at h
    cases response <;> cases h

/-- Rotation, in a rulebook of a script that is read, after any calls: each cursor counts how
often its transformation has been consulted; a call that consults a transformation for the
`n`-th time uses its `n`-th response, counted from 0 and around the list, and moves no other
cursor; and a call that consults none, or that ends unmatched, moves no cursor. Calls give back
cursors only, so the rules themselves stay as they are. -/
theorem rotation_of_calls {text : String} {script : Script} (h : Script.read text = .ok script)
    (earlier : List Call) (c : Call) :
    let book := ofScript script
    let cursors := book.cursorsAfter earlier
    let result := book.call c cursors
    (∀ name rule i t, book.named? name = some rule → rule.transformations[i]? = some t →
      cursors.get name i = earlier.countP (book.consults name i) % t.responses.length) ∧
    (∀ i, book.decisive? c = some i → ∃ rule t captures response,
      book.named? c.name = some rule ∧ rule.transformations[i]? = some t ∧
      t.pattern.captures? book.carries c.words = some captures ∧
      t.responses[earlier.countP (book.consults c.name i) % t.responses.length]? = some response ∧
      result.1 = response.outcome captures ∧
      ∀ name j, (name, j) ≠ (c.name, i) → result.2.get name j = cursors.get name j) ∧
    (book.decisive? c = none →
      result = ((book.named? c.name).elim .unmatched Rule.otherwise, cursors)) ∧
    (result.1 = .unmatched → result.2 = cursors) := by
  intro book cursors result
  have hw : book.WellNamed := wellNamed_ofScript (Script.sound_of_read h)
  refine ⟨fun name rule i t hrule ht => get_cursorsAfter hw earlier hrule ht, fun i hi => ?_,
    fun hnone => call_of_decisive?_eq_none hnone cursors, fun hunmatched => ?_⟩
  · obtain ⟨rule, t, captures, response, hrule, ht, hcaptures, hresponse, hcall⟩ :=
      call_of_decisive?_eq_some hw hi cursors
    rw [get_cursorsAfter hw earlier hrule ht, Nat.mod_mod] at hresponse
    refine ⟨rule, t, captures, response, hrule, ht, hcaptures, hresponse, ?_, fun name j hne => ?_⟩
    · show (book.call c cursors).1 = _
      rw [hcall]
    · show (book.call c cursors).2.get name j = _
      rw [hcall]
      exact Cursors.get_set_of_ne hne
  · have hnone := decisive?_eq_none_of_unmatched hw hunmatched
    show (book.call c cursors).2 = cursors
    rw [call_of_decisive?_eq_none hnone]

/-- A script with a rule of two responses in turn, behind a transformation without any. -/
def turnsText : String :=
  "(HI) (WHAT ((0)) ((0) (ONE) (TWO))) (NONE ((0) (SO))) (MEMORY A (0 = A) (0 = B) (0 = C) (0 = D))"

def turnsScript : Script where
  greeting := ["HI"]
  rules :=
    [{ spelling := "WHAT",
       transformations :=
        [⟨[.count 0], []⟩, ⟨[.count 0], [.reply [.word "ONE"], .reply [.word "TWO"]]⟩] }]
  fallback := { spelling := "NONE", transformations := [⟨[.count 0], [.reply [.word "SO"]]⟩] }
  memory := .letters "A"

/-- Between two uses of the rule, calls of other rules do not count. -/
theorem rotation_of_turnsScript : Script.read turnsText = .ok turnsScript ∧
    let book := ofScript turnsScript
    let earlier : List Call := [⟨.keyword "WHAT", ["WHAT"]⟩, ⟨.fallback, []⟩, ⟨.keyword "WHO", []⟩]
    let c : Call := ⟨.keyword "WHAT", ["WHAT", "NOW"]⟩
    book.decisive? c = some 1 ∧ (book.call c (book.cursorsAfter earlier)).1 = .reply ["TWO"] := by
  have h : Script.read turnsText = .ok turnsScript := by decide +kernel
  refine ⟨h, ?_⟩
  intro book earlier c
  have hi : book.decisive? c = some 1 := by decide +kernel
  obtain ⟨rule, t, captures, response, hrule, ht, -, hresponse, houtcome, -⟩ :=
    (rotation_of_calls h earlier c).2.1 1 hi
  have hwhat : book.named? c.name = turnsScript.rules.head? := by decide +kernel
  have hcount : earlier.countP (book.consults c.name 1) = 1 := by decide +kernel
  obtain rfl := Option.some.inj (hrule.symm.trans hwhat)
  cases ht
  rw [hcount] at hresponse
  cases hresponse
  exact ⟨hi, houtcome⟩

end Rulebook

end Colloquy
